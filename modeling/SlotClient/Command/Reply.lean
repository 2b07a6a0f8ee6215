import SlotClient.Command.Lcs
import SlotClient.Decimal.Reading
import SlotClient.Presence
import SlotClient.Wire.Reading

/-!
# Decoding replies

What a command makes of the reply to it. An error reply is a failure of the server with its exact
message, whatever was expected; a reply of another kind than expected is an unexpected one. A null
is a value only where the result may be absent.
-/

namespace SlotClient

/-- How long a key will live. -/
inductive Lifetime where
  | missing
  | unlimited
  | seconds (left : Nat)
  deriving DecidableEq, Repr

namespace Reply

open Wire (Value)

/-- A reply that is no error. -/
def accepted : Value → Except Failure Value
  | .error message => .error (.server message)
  | reply => .ok reply

def status (reply : Value) : Except Failure String := do
  match ← accepted reply with
  | .simple text => return Utf8.lossyText text
  | _ => throw .unexpectedReply

/-- The bytes of a string, or none for the null. -/
def optionalBytes (reply : Value) : Except Failure (Option Bytes) := do
  match ← accepted reply with
  | .bulk body => return body
  | .simple text => return some text
  | _ => throw .unexpectedReply

def bytes (reply : Value) : Except Failure Bytes := do
  match ← accepted reply with
  | .bulk (some body) => return body
  | .simple text => return text
  | _ => throw .unexpectedReply

def integer (reply : Value) : Except Failure Int64 := do
  match ← accepted reply with
  | .integer value => return value
  | _ => throw .unexpectedReply

/-- A truth value, which is the integer one or zero. -/
def flag (reply : Value) : Except Failure Bool := do
  let value ← integer reply
  if value = 0 then return false
  else if value = 1 then return true
  else throw .unexpectedReply

/-- A floating-point number, which is a string of its decimal text. -/
def float (reply : Value) : Except Failure Binary64 := do
  match Decimal.binary64? (← bytes reply) with
  | some number => return number
  | none => throw .unexpectedReply

/-- An array of strings, each of which may be the null. -/
def optionalBytesList (reply : Value) : Except Failure (List (Option Bytes)) := do
  match ← accepted reply with
  | .array items => items.mapM optionalBytes
  | _ => throw .unexpectedReply

/-- The seconds that a key has left, with numbers below zero for a missing key and for one that
does not expire. -/
def lifetime (reply : Value) : Except Failure Lifetime := do
  let value ← integer reply
  if value = -2 then return .missing
  else if value = -1 then return .unlimited
  else if 0 ≤ value then return .seconds value.toInt.toNat
  else throw .unexpectedReply

/-- A range of offsets, which is an array of two integers. -/
def range : Value → Except Failure Lcs.Range
  | .array [.integer first, .integer last] => .ok (first, last)
  | _ => .error .unexpectedReply

/-- A match, which is an array of two ranges and possibly a length. -/
def lcsMatch : Value → Except Failure Lcs.Match
  | .array (first :: second :: others) => do
    let firstRange ← range first
    let secondRange ← range second
    match others with
    | [] => return ⟨firstRange, secondRange, none⟩
    | length :: rest =>
      let length ← integer length
      if rest.isEmpty then return ⟨firstRange, secondRange, some length⟩
      else throw .unexpectedReply
  | _ => .error .unexpectedReply

/-- Takes a named field into a report; other names are skipped. -/
def lcsField (report : Lcs.Report) (name : Bytes) (value : Value) : Except Failure Lcs.Report :=
  if name = Bytes.ofText "len" then do
    return { report with length := ← integer value }
  else if name = Bytes.ofText "matches" then
    match value with
    | .array items => do return { report with found := ← items.mapM lcsMatch }
    | _ => .error .unexpectedReply
  else .ok report

/-- Takes fields, each a name followed by a value, into a report. -/
def lcsFields : Lcs.Report → List Value → Except Failure Lcs.Report
  | report, [] => .ok report
  | _, [_] => .error .unexpectedReply
  | report, name :: value :: rest =>
    match name.bytes? with
    | some name => do
      let report ← lcsField report name value
      lcsFields report rest
    | none => .error .unexpectedReply

/-- A report of matches, which is an array of fields in any order. -/
def lcsReport (reply : Value) : Except Failure Lcs.Report := do
  match ← accepted reply with
  | .array fields =>
    if fields.length % 2 = 1 then throw .unexpectedReply
    lcsFields {} fields
  | _ => throw .unexpectedReply

end Reply

/-- The kinds of results that commands have. -/
inductive ResultKind where
  | status
  | bytes
  | optionalBytes
  | optionalBytesList
  | integer
  | flag
  | float
  | lifetime
  | lcsReport
  deriving DecidableEq, Repr

namespace ResultKind

abbrev Result : ResultKind → Type
  | status => String
  | bytes => Bytes
  | optionalBytes => Option Bytes
  | optionalBytesList => List (Option Bytes)
  | integer => Int64
  | flag => Bool
  | float => Binary64
  | lifetime => Lifetime
  | lcsReport => Lcs.Report

def decode : (kind : ResultKind) → Wire.Value → Except Failure kind.Result
  | status => Reply.status
  | bytes => Reply.bytes
  | optionalBytes => Reply.optionalBytes
  | optionalBytesList => Reply.optionalBytesList
  | integer => Reply.integer
  | flag => Reply.flag
  | float => Reply.float
  | lifetime => Reply.lifetime
  | lcsReport => Reply.lcsReport

end ResultKind

end SlotClient
