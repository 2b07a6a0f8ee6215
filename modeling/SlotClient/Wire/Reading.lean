import SlotClient.Failure
import SlotClient.Wire.Value

/-!
# Reading replies

The reader takes a reply from the front of the bytes that have arrived and leaves the rest. Bytes
that are no reply are a protocol failure; a reply that is not complete is a failure of the
transport, namely the given fault if the connection has one, and otherwise the end of input. What
was read before a failure is consumed.

Arrays nest to a fixed depth: the limit is checked before anything of the value is read. A bulk
string beyond the limit on its length is refused before its body is read.
-/

namespace SlotClient.Wire

/-- How many values may stand inside each other, the outermost and the innermost included. -/
def nestingLimit : Nat := 9

/-- The largest length of a bulk string. -/
def bulkLimit : Nat := 512 * 1024 * 1024

/-- What a reader returns: its result and the bytes that it leaves. -/
abbrev Outcome (Result : Type) := Except Failure Result × Bytes

/-- The content of a line of which the last two bytes are to be its end. Only the first of the two
is checked, since the search for the line has found the second unless the input ended. -/
def lineContent? (bytes : Bytes) : Option Bytes :=
  if 2 ≤ bytes.length && bytes[bytes.length - 2]? == some Bytes.carriageReturn then
    some (bytes.take (bytes.length - 2))
  else none

def readLine (fault : Option TransportFault) (bytes : Bytes) : Outcome Bytes :=
  let beginning := bytes.takeWhile (· != Bytes.lineFeed)
  match bytes.dropWhile (· != Bytes.lineFeed), fault with
  | [], some fault => (.error (.transport fault), [])
  | [], none =>
    if beginning.isEmpty then (.error (.transport .endOfInput), [])
    else match lineContent? beginning with
      | some content => (.ok content, [])
      | none => (.error .protocol, [])
  | lineFeed :: rest, _ =>
    match lineContent? (beginning ++ [lineFeed]) with
    | some content => (.ok content, rest)
    | none => (.error .protocol, rest)

def readExactly (fault : Option TransportFault) (count : Nat) (bytes : Bytes) : Outcome Bytes :=
  if count ≤ bytes.length then (.ok (bytes.take count), bytes.drop count)
  else (.error (.transport (fault.getD .shortRead)), [])

def readBulk (fault : Option TransportFault) (length : Nat) (bytes : Bytes) : Outcome Value :=
  if bulkLimit < length then (.error .protocol, bytes)
  else match readExactly fault length bytes with
    | (.error failure, rest) => (.error failure, rest)
    | (.ok body, rest) =>
      match readExactly fault 2 rest with
      | (.error failure, remainder) => (.error failure, remainder)
      | (.ok lineEnd, remainder) =>
        if lineEnd = Bytes.lineEnd then (.ok (.bulk (some body)), remainder)
        else (.error .protocol, remainder)

def readItems (readItem : Bytes → Outcome Value) : Nat → Bytes → Outcome (List Value)
  | 0, bytes => (.ok [], bytes)
  | count + 1, bytes =>
    match readItem bytes with
    | (.error failure, rest) => (.error failure, rest)
    | (.ok item, rest) =>
      match readItems readItem count rest with
      | (.error failure, remainder) => (.error failure, remainder)
      | (.ok items, remainder) => (.ok (item :: items), remainder)

/-- Reads the rest of a value whose first line has been read. -/
def readMarked (fault : Option TransportFault) (readItem : Bytes → Outcome Value)
    (marker : UInt8) (content : Bytes) (rest : Bytes) : Outcome Value :=
  if marker = simpleMarker then (.ok (.simple content), rest)
  else if marker = errorMarker then (.ok (.error content), rest)
  else match Decimal.int64? content with
    | none => (.error .protocol, rest)
    | some number =>
      if marker = integerMarker then (.ok (.integer number), rest)
      else if marker = bulkMarker then
        if number < 0 then (.ok .null, rest) else readBulk fault number.toInt.toNat rest
      else if marker = arrayMarker then
        if number < 0 then (.ok .null, rest)
        else match readItems readItem number.toInt.toNat rest with
          | (.error failure, remainder) => (.error failure, remainder)
          | (.ok items, remainder) => (.ok (.array items), remainder)
      else (.error .protocol, rest)

/-- Reads a value that may hold others to a given depth. -/
def readNested (fault : Option TransportFault) : Nat → Bytes → Outcome Value
  | 0, bytes => (.error .protocol, bytes)
  | depth + 1, bytes =>
    match readLine fault bytes with
    | (.error failure, rest) => (.error failure, rest)
    | (.ok [], rest) => (.error .protocol, rest)
    | (.ok (marker :: content), rest) =>
      readMarked fault (readNested fault depth) marker content rest

/-- Reads a reply from bytes behind which the connection ends or has the given fault. -/
def read (fault : Option TransportFault) (bytes : Bytes) : Outcome Value :=
  readNested fault nestingLimit bytes

end SlotClient.Wire
