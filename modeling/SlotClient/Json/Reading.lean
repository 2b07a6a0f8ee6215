import SlotClient.Json.Lexeme

/-!
# Reading the draft of a document

The reader descends into arrays and objects without a limit on depth and stops at the first place
that not even a reader that passes over everything could get past. Every call is paid for by a
unit of an allowance. Four units for each byte of text always suffice, since no more than three
calls in a row take no byte.
-/

namespace SlotClient.Json.Draft

/-- Whether a byte separates tokens. -/
def isBlank (byte : UInt8) : Bool := byte = 32 || byte = 9 || byte = 10 || byte = 13

def skipBlanks (bytes : Bytes) : Bytes := bytes.dropWhile isBlank

/-- Compares the text with the rest of a word whose first letter has been read. -/
def readWord : Bytes → Bytes → Except Fault Bytes
  | [], bytes => .ok bytes
  | _ :: _, [] => .error .truncated
  | expected :: word, byte :: rest =>
    if byte = expected then readWord word rest else .error .malformed

mutual

/-- Reads the draft of a value, and what follows it if it can be passed over. -/
def read : Nat → Bytes → Draft × Option Bytes
  | 0, _ => (absent, none)
  | allowance + 1, bytes =>
    match skipBlanks bytes with
    | [] => (absent, none)
    | byte :: rest =>
      if byte = 34 then
        let (token, remainder) := readText rest
        (text token, remainder)
      else if byte = 45 || Decimal.isDigit byte then
        let (token, remainder) := readNumber (byte :: rest)
        (number token, remainder)
      else if byte = 91 then
        let (items, ending, remainder) := readItems allowance true rest
        (array items ending, remainder)
      else if byte = 123 then
        let (members, ending, remainder) := readMembers allowance true rest
        (object members ending, remainder)
      else if byte = 110 then
        match readWord (Bytes.ofText "ull") rest with
        | .ok remainder => (null, some remainder)
        | .error fault => (misspeltNull fault, none)
      else if byte = 116 then
        match readWord (Bytes.ofText "rue") rest with
        | .ok remainder => (boolean true, some remainder)
        | .error fault => (misspeltBoolean fault, none)
      else if byte = 102 then
        match readWord (Bytes.ofText "alse") rest with
        | .ok remainder => (boolean false, some remainder)
        | .error fault => (misspeltBoolean fault, none)
      else (stray, none)

def readItems : Nat → Bool → Bytes → List Draft × Ending × Option Bytes
  | 0, _, _ => ([], .cut, none)
  | allowance + 1, isFirst, bytes =>
    match skipBlanks bytes with
    | [] => ([], .cut, none)
    | byte :: rest =>
      if byte = 93 then ([], .closed, some rest)
      else if isFirst then readItem allowance (byte :: rest)
      else if byte = 44 then
        match skipBlanks rest with
        | [] => ([], .comma, none)
        | next :: others =>
          if next = 93 then ([], .stray, none) else readItem allowance (next :: others)
      else ([], .stray, none)

def readItem : Nat → Bytes → List Draft × Ending × Option Bytes
  | 0, _ => ([], .cut, none)
  | allowance + 1, bytes =>
    match read allowance bytes with
    | (item, none) => ([item], .cut, none)
    | (item, some remainder) =>
      let (items, ending, after) := readItems allowance false remainder
      (item :: items, ending, after)

def readMembers : Nat → Bool → Bytes → List (Token String × Draft) × Ending × Option Bytes
  | 0, _, _ => ([], .cut, none)
  | allowance + 1, isFirst, bytes =>
    match skipBlanks bytes with
    | [] => ([], .cut, none)
    | byte :: rest =>
      if byte = 125 then ([], .closed, some rest)
      else if isFirst then
        if byte = 34 then readMember allowance rest else ([], .stray, none)
      else if byte = 44 then
        match skipBlanks rest with
        | [] => ([], .comma, none)
        | next :: others =>
          if next = 34 then readMember allowance others else ([], .stray, none)
      else ([], .stray, none)

/-- Reads a member of an object behind the quote that opens its name, and those behind it. -/
def readMember : Nat → Bytes → List (Token String × Draft) × Ending × Option Bytes
  | 0, _ => ([], .cut, none)
  | allowance + 1, bytes =>
    match readText bytes with
    | (token, none) => ([(token, absent)], .cut, none)
    | (token, some afterName) =>
      match skipBlanks afterName with
      | [] => ([(token, absent)], .cut, none)
      | byte :: rest =>
        if byte = 58 then
          match read allowance rest with
          | (value, none) => ([(token, value)], .cut, none)
          | (value, some remainder) =>
            let (members, ending, after) := readMembers allowance false remainder
            ((token, value) :: members, ending, after)
        else ([(token, stray)], .cut, none)

end

/-- The draft of a document, and what follows its value if that can be passed over. -/
def ofText (bytes : Bytes) : Draft × Option Bytes := read (4 * bytes.length + 4) bytes

/-- Decodes a document. Only blanks may follow its value. -/
def decodeText (decode : Draft → Except Fault Value) (bytes : Bytes) : Except Fault Value := do
  let (draft, rest) := ofText bytes
  let value ← decode draft
  match rest with
  | none => throw .malformed
  | some remainder => if (skipBlanks remainder).isEmpty then return value else throw .malformed

end SlotClient.Json.Draft
